import ShaderBinding.Proofs.Text.Lines
import ShaderBinding.Dispatch.Basic

/-! Reading a dispatch function back from its source text, line by line. Symbols and macros stand
in the text as they are, so nothing in them may look like the end of a line or of a symbol. -/

namespace ShaderBinding

namespace SourceText

def caseMark : List Char := ['c', 'a', 's', 'e', ' ']

def defaultMark : List Char := ['d', 'e', 'f', 'a', 'u', 'l', 't', ':']

/-- Whether a line shows a mark before anything else. -/
def starts (mark line : List Char) : Bool := decide (mark <+: trimmed line)

/-- The number that some decimal digits spell. -/
def decimal? (digits : List Char) : Option Nat :=
  if digits ≠ [] ∧ digits.all Char.isDigit = true then some (Nat.ofDigitChars 10 digits 0)
  else none

/-- The label of a case line, which ends at the first colon, and the symbol called after it. -/
def labelled? (line : List Char) : Option (Nat × String) :=
  let body := (trimmed line).drop caseMark.length
  match body.dropWhile (· != ':') with
  | [] => none
  | _ :: call =>
    (decimal? (body.takeWhile (· != ':'))).map fun label =>
      (label, String.ofList ((trimmed call).takeWhile (· != '(')))

def caseLines (text : String) : List (List Char) := (textLines text).filter (starts caseMark)

def hasLabel (label : Nat) (line : List Char) : Bool := (labelled? line).any (·.1 == label)

/-- The labels and symbols of all case lines, none when one of them has no label. -/
def cases? (text : String) : Option (List (Nat × String)) := (caseLines text).mapM labelled?

theorem starts_eq_false {mark line : List Char}
    (h : ∀ c ∈ mark.head?, (line.dropWhile isWhiteSpace).head? ≠ some c) (hmark : mark ≠ []) :
    starts mark line = false := by
  obtain ⟨c, rest, rfl⟩ := List.exists_cons_of_ne_nil hmark
  apply decide_eq_false
  rintro ⟨more, hmore⟩
  apply h c (by simp)
  rw [← head?_trimmed, ← hmore]
  rfl

theorem toList_toString (n : Nat) : (toString n).toList = Nat.toDigits 10 n := by
  rw [Nat.toString_eq_repr, Nat.toList_repr]

theorem decimal?_toDigits (n : Nat) : decimal? (Nat.toDigits 10 n) = some n := by
  have hdigits : (Nat.toDigits 10 n).all Char.isDigit = true := by
    exact List.all_eq_true.mpr fun c hc => Nat.isDigit_of_mem_toDigits (by decide) (by decide) hc
  rw [decimal?, if_pos ⟨Nat.toDigits_ne_nil, hdigits⟩, Nat.ofDigitChars_ten_toDigits]

theorem toDigits_injective {n m : Nat} (h : Nat.toDigits 10 n = Nat.toDigits 10 m) : n = m := by
  have hread := congrArg decimal? h
  rw [decimal?_toDigits, decimal?_toDigits] at hread
  exact Option.some.inj hread

end SourceText

/-- A symbol that can be told from the text around it. -/
structure IsCallee (symbol : String) : Prop where
  unbroken : '\n' ∉ symbol.toList
  unopened : '(' ∉ symbol.toList
  visible : ∀ c ∈ symbol.toList.head?, isWhiteSpace c = false

instance (symbol : String) : Decidable (IsCallee symbol) :=
  decidable_of_iff ('\n' ∉ symbol.toList ∧ '(' ∉ symbol.toList ∧
      symbol.toList.head?.all (fun c => !isWhiteSpace c) = true)
    ⟨fun ⟨hn, ho, hv⟩ => ⟨hn, ho, by simpa [Option.all_eq_true] using hv⟩,
      fun h => ⟨h.unbroken, h.unopened, by simpa [Option.all_eq_true] using h.visible⟩⟩

namespace Dispatch

open SourceText

/-- What stands on a case line behind the colon and one blank. -/
def Branch.call (arguments : String) (branch : Branch) : List Char :=
  branch.symbol.toList ++ '(' :: (arguments.toList ++
    [')', ';', ' ', 'b', 'r', 'e', 'a', 'k', ';'])

namespace Branch

variable {branch : Branch}

theorem toList_line (arguments : String) (branch : Branch) :
    (branch.line arguments).toList =
      List.replicate 8 ' ' ++ (caseMark ++ (Nat.toDigits 10 branch.index ++
        ':' :: ' ' :: branch.call arguments)) := by
  have hpad : "        case ".toList = List.replicate 8 ' ' ++ caseMark := String.toList_ofList
  have hcolon : ": ".toList = [':', ' '] := String.toList_ofList
  have hopen : "(".toList = ['('] := String.toList_ofList
  have hclose : "); break;".toList = [')', ';', ' ', 'b', 'r', 'e', 'a', 'k', ';'] :=
    String.toList_ofList
  unfold line call
  simp only [String.toList_append]
  rw [hpad, hcolon, hopen, hclose, toList_toString]
  simp only [List.append_assoc, List.cons_append, List.nil_append]

theorem getLast?_call (arguments : String) (branch : Branch) :
    (branch.call arguments).getLast? = some ';' := by
  simp [call, List.getLast?_append, List.getLast?_cons]

theorem trimmed_line (arguments : String) (branch : Branch) :
    trimmed (branch.line arguments).toList =
      caseMark ++ (Nat.toDigits 10 branch.index ++ ':' :: ' ' :: branch.call arguments) := by
  rw [toList_line]
  refine trimmed_append ?_ ?_ ?_
  · intro c hc
    rw [List.eq_of_mem_replicate hc]
    decide
  · simp only [caseMark, List.cons_append, List.head?_cons, Option.mem_some_iff, forall_eq']
    decide
  · intro c hc
    have : c = ';' := by
      simpa [List.getLast?_append, List.getLast?_cons, getLast?_call] using hc.symm
    rw [this]
    decide

theorem trimmed_call (arguments : String) (h : IsCallee branch.symbol) :
    trimmed (' ' :: branch.call arguments) = branch.call arguments := by
  rw [show ' ' :: branch.call arguments = [' '] ++ branch.call arguments from rfl]
  have hpad : ∀ c ∈ [' '], isWhiteSpace c = true := List.forall_mem_singleton.mpr (by decide)
  refine trimmed_append hpad ?_ ?_
  · intro c hc
    cases hs : branch.symbol.toList with
    | nil =>
      have : c = '(' := by simpa [call, hs] using hc.symm
      rw [this]
      decide
    | cons first more => exact h.visible c (by simpa [call, hs] using hc)
  · intro c hc
    have : c = ';' := by simpa [getLast?_call] using hc.symm
    rw [this]
    decide

theorem starts_case (arguments : String) (branch : Branch) :
    starts caseMark (branch.line arguments).toList = true := by
  rw [starts, trimmed_line]
  exact decide_eq_true (List.prefix_append ..)

theorem starts_default (arguments : String) (branch : Branch) :
    starts defaultMark (branch.line arguments).toList = false := by
  rw [starts, trimmed_line]
  apply decide_eq_false
  rintro ⟨more, hmore⟩
  have : some 'd' = some 'c' := congrArg List.head? hmore
  simp at this

theorem labelled?_line (arguments : String) (h : IsCallee branch.symbol) :
    labelled? (branch.line arguments).toList = some (branch.index, branch.symbol) := by
  have hlabel : ':' ∉ Nat.toDigits 10 branch.index := notMem_toDigits (by decide) _
  have hbody : (trimmed (branch.line arguments).toList).drop caseMark.length =
      Nat.toDigits 10 branch.index ++ ':' :: ' ' :: branch.call arguments := by
    rw [trimmed_line, List.drop_left]
  have hdrop := dropWhile_append_mark hlabel (' ' :: branch.call arguments)
  have htake := takeWhile_append_mark hlabel (' ' :: branch.call arguments)
  have hname : (branch.call arguments).takeWhile (· != '(') = branch.symbol.toList :=
    takeWhile_append_mark h.unopened _
  simp only [labelled?, hbody, hdrop, htake, trimmed_call arguments h, hname, decimal?_toDigits,
    Option.map_some, String.ofList_toList]

theorem unbroken_line {arguments : String} (hargs : '\n' ∉ arguments.toList)
    (hsymbol : '\n' ∉ branch.symbol.toList) : '\n' ∉ (branch.line arguments).toList := by
  have hindex : '\n' ∉ Nat.toDigits 10 branch.index := notMem_toDigits (by decide) _
  rw [toList_line]
  simp [caseMark, call, hindex, hargs, hsymbol]

end Branch

end Dispatch

end ShaderBinding
