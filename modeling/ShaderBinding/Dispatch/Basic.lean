import ShaderBinding.Dispatch.Variant
import ShaderBinding.Log
import ShaderBinding.Table

/-! Dispatch functions: a switch over the indices of the records that bind a stage. -/

namespace ShaderBinding

structure Dispatch.Branch where
  index : Nat
  symbol : String
  deriving DecidableEq, Repr

structure Dispatch where
  spec : Dispatch.Spec
  branches : List Dispatch.Branch
  deriving DecidableEq, Repr

namespace Dispatch

namespace Spec

/-- The branches for a table: one for each record that binds the stage, in table order. -/
def branches (spec : Spec) (table : Table) : List Branch :=
  (table.bindings spec.stage).map fun (index, symbol) => ⟨index, symbol⟩

def dispatch (spec : Spec) (table : Table) : Dispatch := ⟨spec, spec.branches table⟩

end Spec

def logTarget : String := "sbtgen::dispatch"

def Branch.entry (kind : Kind) (branch : Branch) : Entry where
  level := .trace
  target := logTarget
  message := kind.name ++ ": case " ++ toString branch.index ++ " -> " ++ branch.symbol

def countEntry (dispatch : Dispatch) (size : Nat) : Entry where
  level := .debug
  target := logTarget
  message :=
    "built " ++ dispatch.spec.kind.functionName ++ " with " ++ toString dispatch.branches.length ++
      " of " ++ toString size ++ " records bound"

/-- The dispatch function for a table, reporting each branch and then their number. -/
def Spec.build (spec : Spec) (table : Table) : Logged Dispatch := do
  let dispatch := spec.dispatch table
  dispatch.branches.forM fun branch => Logged.log (branch.entry spec.kind)
  Logged.log (dispatch.countEntry table.size)
  pure dispatch

def Branch.line (arguments : String) (branch : Branch) : String :=
  "        case " ++ toString branch.index ++ ": " ++ branch.symbol ++ "(" ++ arguments ++
    "); break;"

/-- The line for an index that no case matches. -/
def defaultLine (kind : Kind) : String :=
  "        default: printf(\"Error: No " ++ kind.name ++ " shader found.\");"

def lines (dispatch : Dispatch) : List String :=
  let spec := dispatch.spec
  ["void " ++ spec.kind.functionName ++ "(" ++ spec.parameters ++ ")", "\x7b"]
    ++ spec.kind.selectorLines
    ++ ["    switch (" ++ spec.kind.selector ++ ")", "    \x7b"]
    ++ dispatch.branches.map (Branch.line spec.arguments)
    ++ (if spec.defaultBranch then [defaultLine spec.kind] else [])
    ++ ["    \x7d", "\x7d"]

/-- The source text of a dispatch function; each line has its line break. -/
def render (dispatch : Dispatch) : String :=
  String.join (dispatch.lines.map (· ++ "\n"))

end Dispatch

end ShaderBinding
